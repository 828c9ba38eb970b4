import ScriptLang.Shell.Bytes
import ScriptLang.Shell.State

/-!
# What a shell does

An action works on the state of a shell, makes system calls, and may stop before its end: because
something goes wrong, or because a command such as `exit` or `break` leaves what is under way.

## Main definitions

* `Stop` — why an action does not come to its end
* `Action` — what a shell does
* `readWhile`, `readAll`, `writeTo` — reading and writing through descriptors
* `complain`, `fail` — complaints
-/

namespace ScriptLang.Shell

/-- Why an action does not come to its end. -/
inductive Stop where
  /-- The shell ends with its present status. -/
  | leave
  /-- Something has gone wrong, and a complaint has been made. -/
  | fault
  /-- A function or a script ends. -/
  | goBack
  /-- So many loops end. -/
  | leaveLoops (count : Nat)
  /-- So many loops end, the last one of them only for this turn. -/
  | nextTurn (count : Nat)
  /-- A signal ends the process. -/
  | killed (signal : Nat)

/-- What a shell does. -/
abbrev Action := ExceptT Stop (StateT State Process)

/-- Makes a system call. -/
def call (c : Call) : Action c.Answer :=
  fun s => (Process.call c).bind fun a => .done (.ok a, s)

/-- What the shell remembers. -/
def memory : Action Memory :=
  return (← get).memory

/-- Changes what the shell remembers. -/
def remember (f : Memory → Memory) : Action Unit :=
  modify fun s => { s with memory := f s.memory }

/-- Does something, and tells how it stopped, if it did. -/
def caught {α : Type} (act : Action α) : Action (Except Stop α) :=
  fun s => (act s).bind fun (r, s) => .done (.ok r, s)

/-- Does something, and something else after it even if it stops. -/
def ensuring {α : Type} (act : Action α) (after : Action Unit) : Action α := do
  let r ← caught act
  after
  match r with
  | .ok a => return a
  | .error stop => throw stop

/-- Does something with a changed memory, and goes back to the old one. -/
def apart {α : Type} (change : Memory → Memory) (act : Action α) : Action α := do
  let before ← memory
  remember change
  ensuring act (remember fun _ => before)

/-! ### Paths -/

/-- The path that a name stands for, with the working directory in front if the shell has moved. -/
def pathOf (name : String) : Action String := do
  let text := toText name
  if text = "" ∨ text.startsWith "/" then return text
  match (← memory).directory with
  | none => return text
  | some directory => return if directory = "/" then "/" ++ text else directory ++ "/" ++ text

/-- What is at a path. -/
def inspect (name : String) (last : Bool := true) : Action (Except IoError FileInfo) := do
  call (.inspect (← pathOf name) last)

/-- The kind of what is at a path. -/
def kindAt? (name : String) : Action (Option FileKind) := do
  match ← inspect name with
  | .ok info => return some info.kind
  | .error _ => return none

/-- Whether there is a directory at a path. -/
def isDirectory (name : String) : Action Bool := do
  return (← kindAt? name) = some .directory

/-- The names in a directory, in the order of their bytes. -/
def namesIn (name : String) : Action (Except IoError (List String)) := do
  match ← call (.list (← pathOf name)) with
  | .ok names => return .ok (sorted (names.map ofText))
  | .error e => return .error e

/-- The content of a file. -/
def contentOf (name : String) : Action (Except IoError String) := do
  match ← call (.readFile (← pathOf name)) with
  | .ok bytes => return .ok (ofBytes bytes)
  | .error e => return .error e

/-- The text of a script.  A directory can be opened, but there is nothing in it to carry out. -/
def scriptAt (name : String) : Action (Except IoError String) := do
  match ← contentOf name with
  | .error .isDirectory => return .ok ""
  | result => return result

/-- Writes a file. -/
def writeFile (name content : String) (append : Bool := false) : Action (Except IoError Unit) := do
  call (.writeFile (← pathOf name) (toBytes content) append)

/-- Makes a change to the tree of files. -/
def change (c : FileChange) : Action (Except IoError Unit) :=
  call (.change c)

/-- The working directory. -/
def workingDirectory : Action String := do
  match (← memory).directory with
  | some directory => return ofText directory
  | none => return ofText (← call .workingDirectory)

/-! ### Channels -/

/-- Opens a channel. -/
def openChannel (c : Channel) : Action Nat :=
  modifyGet fun s => (s.channels.size, { s with channels := s.channels.push c })

/-- Changes a channel. -/
def setChannel (id : Nat) (c : Channel) : Action Unit :=
  modify fun s => { s with channels := s.channels.setIfInBounds id c }

/-- The number of the channel behind a descriptor, and the channel. -/
def channelOf (fd : Nat) : Action (Option (Nat × Channel)) := do
  let s ← get
  return (s.memory.channel? fd).bind fun id => s.channels[id]?.map fun c => (id, c)

/-- What is left to read behind a descriptor. -/
def unread (fd : Nat) : Action (Except IoError (List Char)) := do
  match ← channelOf fd with
  | some (_, .source rest) => return .ok rest
  | some (_, .file path offset _ true _) =>
    match ← call (.readFile path) with
    | .ok bytes => return .ok ((bytes.drop offset).map fun b => Char.ofNat b.toNat)
    | .error e => return .error e
  | _ => return .error .badDescriptor

/-- Moves on behind characters that have been read. -/
def skip (fd count : Nat) : Action Unit := do
  match ← channelOf fd with
  | some (id, .source rest) => setChannel id (.source (rest.drop count))
  | some (id, .file path offset append readable writable) =>
    setChannel id (.file path (offset + count) append readable writable)
  | _ => return

/-- Reads characters up to one that passes a test, or up to the end. -/
def readUntil (fd : Nat) (test : Char → Bool) : Action (Except IoError (List Char)) := do
  match ← unread fd with
  | .error e => return .error e
  | .ok rest =>
    let before := rest.takeWhile (!test ·)
    let line := before ++ (rest.drop before.length).take 1
    skip fd line.length
    return .ok line

/-- Reads all that is left. -/
def readAll (fd : Nat) : Action (Except IoError String) := do
  match ← unread fd with
  | .error e => return .error e
  | .ok rest =>
    skip fd rest.length
    return .ok (String.ofList rest)

/-- How much a pipe takes from a writer that never ends. -/
def pipeRoom : Nat := 1048576

/-- Writes into a file at a place. -/
def writeAt (path : String) (offset : Nat) (append : Bool) (text : String) :
    Action (Except IoError Unit) := do
  match ← call (.inspect path true) with
  | .error _ => return .ok ()
  | .ok info =>
    if append ∨ info.kind ≠ .file ∨ info.size = offset then
      call (.writeFile path (toBytes text) true)
    else
      match ← call (.readFile path) with
      | .error e => return .error e
      | .ok old =>
        let start := old.take offset ++ List.replicate (offset - old.length) 0
        call (.writeFile path (start ++ toBytes text ++ old.drop (offset + text.length)) false)

/-- Writes into a channel.  A pipe that takes no more ends the writer. -/
def writeInto (id : Nat) (text : String) : Action (Except IoError Unit) := do
  if text = "" then return .ok ()
  match (← get).channels[id]? with
  | some (.sink written room) =>
    setChannel id (.sink (text :: written) (room.map fun n => n - text.length))
    if room.any (· < text.length) then throw (.killed 13)
    return .ok ()
  | some (.file path offset append readable true) =>
    match ← writeAt path offset append text with
    | .ok _ =>
      setChannel id (.file path (offset + text.length) append readable true)
      return .ok ()
    | .error e => return .error e
  | _ => return .error .badDescriptor

/-- Writes through a descriptor. -/
def writeTo (fd : Nat) (text : String) : Action (Except IoError Unit) := do
  match (← memory).channel? fd with
  | some id => writeInto id text
  | none => return if text = "" then .ok () else .error .badDescriptor

/-- What has been written into a channel. -/
def written (id : Nat) : Action String := do
  match (← get).channels[id]? with
  | some (.sink chunks _) => return String.join chunks.reverse
  | _ => return ""

/-! ### Complaints -/

/-- Writes to the error output. -/
def warn (text : String) : Action Unit := do
  let _ ← writeTo 2 text

/-- Complains in the name of the shell. -/
def complaint (text : String) : Action Unit := do
  let m ← memory
  let command := match m.command with
    | some name => name ++ ": "
    | none => ""
  warn (m.name ++ ": " ++ toString m.line ++ ": " ++ command ++ text ++ "\n")

/-- Sets the status. -/
def setStatus (status : Nat) : Action Unit :=
  remember fun m => { m with status }

/-- Complains, and stops with a status. -/
def failWith {α : Type} (status : Nat) (text : String) : Action α := do
  complaint text
  setStatus status
  throw .fault

/-- Complains and stops. -/
def fail {α : Type} (text : String) : Action α :=
  failWith 2 text

/-- What a shell says about an error when it opens, creates or starts something. -/
def reasonFor (e : IoError) (missing : String) : String :=
  match e with
  | .notFound | .notDirectory => missing
  | e => e.reason

/-- Writes to the output; says so if that fails. -/
def say (text : String) : Action Nat := do
  match ← writeTo 1 text with
  | .ok _ => return 0
  | .error _ =>
    complaint (((← memory).command.getD "") ++ ": I/O error")
    return 1

/-! ### Variables -/

/-- Gives a variable a value. -/
def assign (name value : String) : Action Unit := do
  let m ← memory
  match m.find? name with
  | some v =>
    if v.readOnly then fail (name ++ ": is read only")
    remember (·.put name { v with value := some value, exported := v.exported || m.has 'a' })
  | none => remember (·.put name { value := some value, exported := m.has 'a' })
  if name = "OPTIND" then remember fun m => { m with optionOffset := none }

/-- Covers a variable of the surroundings until the function ends. -/
def cover (name : String) : Action Unit :=
  remember fun m =>
    match m.covered with
    | [] => m
    | frame :: outer =>
      if frame.any (·.1 == name) then m
      else { m with covered := ((name, m.find? name) :: frame) :: outer }

/-- Uncovers the variables that the innermost function has covered.  The name `-` stands for the
options. -/
def uncover : Action Unit :=
  remember fun m =>
    match m.covered with
    | [] => m
    | frame :: outer =>
      frame.foldl (fun m (name, v) => match name, v with
        | "-", v => { m with options := ((v.bind Variable.value).getD "").toList }
        | name, some v => m.put name v
        | name, none => m.drop name) { m with covered := outer }

/-! ### Files -/

/-- The descriptor that a path such as `/dev/stdout` names. -/
def descriptorAt? (path : String) : Option Nat :=
  match path with
  | "/dev/stdin" => some 0
  | "/dev/stdout" => some 1
  | "/dev/stderr" => some 2
  | _ => if path.startsWith "/dev/fd/" then natural? ((path.drop 8).toString) else none

/-- Opens a file.  A new one gets the permission bits that the shell allows. -/
def openFile (how : Opening) (name : String) : Action (Except IoError Nat) := do
  match descriptorAt? name with
  | some fd =>
    match ← channelOf fd with
    | some (id, _) => return .ok id
    | none => return .error .notFound
  | none =>
    let path ← pathOf name
    let info ← call (.inspect path true)
    let sparing := how == .write && (← memory).has 'C'
    let isFile := match info with
      | .ok i => i.kind == .file
      | .error _ => false
    if how = .read then
      match info with
      | .error e => return .error e
      | .ok _ => return .ok (← openChannel (.file path 0 false true false))
    else if sparing && isFile then return .error .alreadyExists
    else
      let keeps := how = .append ∨ how = .readWrite
      match ← call (.writeFile path [] keeps) with
      | .error e => return .error e
      | .ok _ =>
        let mask := (← memory).mask
        if mask ≠ 0o022 ∧ info.toOption.isNone then
          let _ ← change (.setMode path (Files.unmasked 0o666 mask))
        let append := how = .append
        return .ok (← openChannel (.file path 0 append (how = .readWrite) true))

/-- Opens a file for a connection, or complains. -/
def openFor (how : Opening) (name : String) : Action Nat := do
  match ← openFile how name with
  | .ok id => return id
  | .error e =>
    if how = .read then fail ("cannot open " ++ name ++ ": " ++ reasonFor e "No such file")
    else fail ("cannot create " ++ name ++ ": " ++ reasonFor e "Directory nonexistent")

end ScriptLang.Shell
